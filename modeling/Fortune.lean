import Fortune.Arithmetic.Expression
import Fortune.Arithmetic.Token
import Fortune.Bisection
import Fortune.Command.Arguments
import Fortune.Command.Basic
import Fortune.Command.Line
import Fortune.Command.Listing
import Fortune.Command.Report
import Fortune.Command.Resolution
import Fortune.Command.Start
import Fortune.Command.Table
import Fortune.Command.Tally
import Fortune.Command.Trial
import Fortune.Decimal.Binary64
import Fortune.Decimal.Layout
import Fortune.Decimal.Reader
import Fortune.Decimal.Shortest
import Fortune.Document.Basic
import Fortune.Document.Name
import Fortune.Document.Number
import Fortune.Document.Quoted
import Fortune.Document.Reader
import Fortune.Document.Scalar
import Fortune.Document.Writer
import Fortune.Engine
import Fortune.Host
import Fortune.Identifier
import Fortune.Keyed
import Fortune.Ladder
import Fortune.Main
import Fortune.Outcome.Definition
import Fortune.Outcome.Effect
import Fortune.Outcome.Error
import Fortune.Outcome.Resolve
import Fortune.Outcome.Sound
import Fortune.Pack.Documents
import Fortune.Pack.Tree
import Fortune.Position
import Fortune.Proofs.Arithmetic.Evaluation
import Fortune.Proofs.Arithmetic.Lexing
import Fortune.Proofs.Command.Listing
import Fortune.Proofs.Command.Table
import Fortune.Proofs.Command.Tally
import Fortune.Proofs.Command.Trial
import Fortune.Proofs.Decimal.Doubling
import Fortune.Proofs.Decimal.Finite
import Fortune.Proofs.Decimal.Layout
import Fortune.Proofs.Decimal.Order
import Fortune.Proofs.Decimal.Overflow
import Fortune.Proofs.Decimal.Packing
import Fortune.Proofs.Document.Literal
import Fortune.Proofs.Document.Name
import Fortune.Proofs.Document.Path
import Fortune.Proofs.Document.Replacement
import Fortune.Proofs.Document.Resolution
import Fortune.Proofs.Engine.Independence
import Fortune.Proofs.Engine.Operation
import Fortune.Proofs.Engine.Selections
import Fortune.Proofs.Engine.Trigger
import Fortune.Proofs.Identifier
import Fortune.Proofs.Keyed
import Fortune.Proofs.Ladder.Exact
import Fortune.Proofs.Ladder.Intervals
import Fortune.Proofs.Ladder.Odds
import Fortune.Proofs.Ladder.Rungs
import Fortune.Proofs.Ladder.Search
import Fortune.Proofs.Outcome.Audible
import Fortune.Proofs.Outcome.Coordinates
import Fortune.Proofs.Outcome.Naming
import Fortune.Proofs.Outcome.ReadAhead
import Fortune.Proofs.Outcome.Resolution
import Fortune.Proofs.Outcome.WellFormed
import Fortune.Proofs.Pack.Documents
import Fortune.Proofs.Pack.Files
import Fortune.Proofs.Pack.Tree
import Fortune.Proofs.Position
import Fortune.Proofs.Random.Forward
import Fortune.Proofs.Random.Plan
import Fortune.Proofs.Random.Samples
import Fortune.Proofs.Registry.Changes
import Fortune.Proofs.Registry.Loading
import Fortune.Proofs.Registry.Lookup
import Fortune.Proofs.Registry.Selection
import Fortune.Proofs.Scheduler.Due
import Fortune.Proofs.Scheduler.Firing
import Fortune.Proofs.Scheduler.History
import Fortune.Proofs.Scheduler.Tickets
import Fortune.Proofs.Template.Calculation
import Fortune.Proofs.Template.Calls
import Fortune.Proofs.Template.Chain
import Fortune.Proofs.Template.Draws
import Fortune.Proofs.Template.Expansion
import Fortune.Proofs.Template.Footprint
import Fortune.Proofs.Template.Idle
import Fortune.Proofs.Template.Joined
import Fortune.Proofs.Template.Links
import Fortune.Proofs.Template.Parentheses
import Fortune.Proofs.Template.Placeholders
import Fortune.Proofs.Template.PlayerUuid
import Fortune.Proofs.Template.Quotes
import Fortune.Proofs.Template.Recognised
import Fortune.Proofs.Template.Refusals
import Fortune.Proofs.Template.Resolver
import Fortune.Proofs.Template.Words
import Fortune.Proofs.Text.Blank
import Fortune.Proofs.Text.Pattern
import Fortune.Proofs.Text.Postcondition
import Fortune.Proofs.Text.Reading
import Fortune.Random.Keystream
import Fortune.Random.Range
import Fortune.Random.Source
import Fortune.Registry.Basic
import Fortune.Registry.Snapshot
import Fortune.Scene
import Fortune.Scheduler
import Fortune.Template.Error
import Fortune.Template.Function
import Fortune.Template.Parameter
import Fortune.Template.Resolve
import Fortune.Template.Substitution
import Fortune.Text.Alphabetic
import Fortune.Text.Blank
import Fortune.Text.CharClass
import Fortune.Text.Hexadecimal
import Fortune.Text.Mark
import Fortune.Text.Numeral
import Fortune.Text.Numeric
import Fortune.Text.Pieces
import Fortune.Text.Ranges
import Fortune.Width
