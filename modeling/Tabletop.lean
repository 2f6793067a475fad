import Tabletop.Breakdown
import Tabletop.CharacterFile
import Tabletop.Check.Difficulty
import Tabletop.Check.Outcome
import Tabletop.Check.Score
import Tabletop.Command
import Tabletop.Command.Outcome
import Tabletop.Command.Run
import Tabletop.Command.Words
import Tabletop.Content
import Tabletop.ContentFile
import Tabletop.Dice.Roller
import Tabletop.Dice.Twister
import Tabletop.Document
import Tabletop.Document.Json.Reader
import Tabletop.Document.Json.Writer
import Tabletop.Document.Literal
import Tabletop.Document.Moment
import Tabletop.Document.Toml.Reader
import Tabletop.Document.Toml.Scalar
import Tabletop.Document.Yaml.Node
import Tabletop.Document.Yaml.Reader
import Tabletop.Document.Yaml.Scalar
import Tabletop.Document.Yaml.Spot
import Tabletop.Document.Yaml.Style
import Tabletop.Document.Yaml.Token
import Tabletop.Files.Path
import Tabletop.Files.Tree
import Tabletop.Formula.Draft
import Tabletop.Formula.Evaluated
import Tabletop.Formula.Excerpt
import Tabletop.Formula.Parse
import Tabletop.Formula.Span
import Tabletop.Formula.Term
import Tabletop.Formula.Token
import Tabletop.Log
import Tabletop.Log.Lines
import Tabletop.Main
import Tabletop.Manifest
import Tabletop.Number
import Tabletop.Number.Binary64
import Tabletop.Number.Decimal
import Tabletop.Number.Integer
import Tabletop.Proofs.Check.Bonus
import Tabletop.Proofs.Evaluation.Circularity
import Tabletop.Proofs.Evaluation.Nesting
import Tabletop.Proofs.Evaluation.References
import Tabletop.Proofs.Evaluation.Rules
import Tabletop.Proofs.Evaluation.Valuation
import Tabletop.Proofs.Formula.Cutting
import Tabletop.Proofs.Formula.Grammar
import Tabletop.Proofs.Formula.Misfits
import Tabletop.Proofs.Formula.Parsing
import Tabletop.Proofs.Formula.Places
import Tabletop.Proofs.Formula.Scanning
import Tabletop.Proofs.Formula.Words
import Tabletop.Proofs.Document.Json.Scalars
import Tabletop.Proofs.Number.Digits
import Tabletop.Proofs.Track.Counter
import Tabletop.Schema
import Tabletop.Screen.Action
import Tabletop.Screen.Action.Lexeme
import Tabletop.Screen.Action.Literal
import Tabletop.Screen.Cells
import Tabletop.Screen.Drawing
import Tabletop.Screen.Figure
import Tabletop.Screen.Formulas
import Tabletop.Screen.Markup
import Tabletop.Screen.Sheets
import Tabletop.Screen.Style
import Tabletop.Session
import Tabletop.Sheet
import Tabletop.Sheet.Checking
import Tabletop.Sheet.Evaluation
import Tabletop.Sheet.Ownership
import Tabletop.Snapshot
import Tabletop.Text.Alphanumeric
import Tabletop.Text.Blank
import Tabletop.Text.CharacterName
import Tabletop.Text.Digit
import Tabletop.Text.Half
import Tabletop.Text.LetterCase
import Tabletop.Text.Line
import Tabletop.Text.Pictogram
import Tabletop.Text.Pictogram.Names
import Tabletop.Text.Printable
import Tabletop.Text.Quoted
import Tabletop.Track
import Tabletop.Proofs.Document.Json.Legible
import Tabletop.Proofs.Snapshot
import Tabletop.Proofs.Content
import Tabletop.Proofs.Sheet.Mapping
import Tabletop.Proofs.Sheet.Tracks
import Tabletop.Proofs.Evaluation.Likeness
import Tabletop.Proofs.Evaluation.DiceOrder
import Tabletop.Proofs.Evaluation.Locality
import Tabletop.Proofs.Session.Requests
import Tabletop.Proofs.Session.Listening
import Tabletop.Proofs.Session
import Tabletop.Proofs.Files
import Tabletop.Proofs.CharacterFile
import Tabletop.Proofs.Screen.Markup
import Tabletop.Proofs.Command.Moves
import Tabletop.Proofs.Command.Work
import Tabletop.Proofs.Command.Running
import Tabletop.Proofs.Command.Saving
import Tabletop.Proofs.Session.RoundTrip
import Tabletop.Proofs.Evaluation.Marks
import Tabletop.Proofs.Check.Making
import Tabletop.Proofs.Sheet.Tables
import Tabletop.Proofs.Session.Restoring
import Tabletop.Proofs.Command.Changing
import Tabletop.Proofs.Command.Upgrading
import Tabletop.Proofs.Loading
import Tabletop.Proofs.Command.Reading
import Tabletop.Proofs.Command.Failing
import Tabletop.Proofs.Formula.Spelling
import Tabletop.Proofs.Formula.Writing
import Tabletop.Proofs.Evaluation.Traces
import Tabletop.Proofs.Evaluation.Warnings
import Tabletop.Proofs.Number.Guarded
import Tabletop.Proofs.Evaluation.Defects
import Tabletop.Proofs.Evaluation.Integers
import Tabletop.Proofs.Evaluation.Permuting
import Tabletop.Proofs.Session.Setting
import Tabletop.Proofs.Session.Reapplying
import Tabletop.Proofs.Number.Range
import Tabletop.Proofs.Evaluation.Quotients
import Tabletop.Proofs.Check.RollOfOne
import Tabletop.Proofs.Check.Recording
import Tabletop.Proofs.Formula.Separating
import Tabletop.Proofs.Session.Calling
import Tabletop.Proofs.CharacterFile.Naming
import Tabletop.Proofs.Evaluation.Nameable
import Tabletop.Proofs.Content.Accepting
import Tabletop.Proofs.Screen.Escaping
import Tabletop.Proofs.Screen.Checks
import Tabletop.Proofs.Check.Wording
import Tabletop.Proofs.Dice.Seeded
import Tabletop.Proofs.Command.Checking
