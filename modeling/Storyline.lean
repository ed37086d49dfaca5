import Storyline.Anomaly
import Storyline.AutoPlay
import Storyline.Compose
import Storyline.Config
import Storyline.Config.Stored
import Storyline.Console.Linter
import Storyline.Console.Player
import Storyline.Console.Report
import Storyline.Console.Scaffold
import Storyline.Console.Shown
import Storyline.Data.Value
import Storyline.Design
import Storyline.Engine
import Storyline.Files
import Storyline.Graph
import Storyline.Graph.Order
import Storyline.Graph.Reach
import Storyline.Instruction
import Storyline.Json.Reader
import Storyline.Json.Token
import Storyline.Json.Writer
import Storyline.Levels
import Storyline.Lint
import Storyline.Main
import Storyline.Memory
import Storyline.Playback
import Storyline.Proofs.Data.Value
import Storyline.Proofs.Design.Conversion
import Storyline.Proofs.Design.Stored
import Storyline.Proofs.Graph.BreadthFirst
import Storyline.Proofs.Graph.Countdown
import Storyline.Proofs.Graph.Cycle
import Storyline.Proofs.Graph.DepthFirst
import Storyline.Proofs.Graph.Order
import Storyline.Proofs.Graph.Path
import Storyline.Proofs.Graph.Reach
import Storyline.Proofs.Graph.Rearranged
import Storyline.Proofs.Graph.Valid
import Storyline.Proofs.Json.RoundTrip
import Storyline.Proofs.Json.Token
import Storyline.Proofs.Lint.Clean
import Storyline.Proofs.Memory.Bounded
import Storyline.Proofs.Memory.Guaranteed
import Storyline.Proofs.Memory.Rearranged
import Storyline.Proofs.Memory.Told
import Storyline.Proofs.NameSet
import Storyline.Proofs.Playback.Asked
import Storyline.Proofs.Playback.Calls
import Storyline.Proofs.Playback.Choosing
import Storyline.Proofs.Playback.CleanPlay
import Storyline.Proofs.Playback.Conditions
import Storyline.Proofs.Playback.Consistency
import Storyline.Proofs.Playback.Finite
import Storyline.Proofs.Playback.MissingLevels
import Storyline.Proofs.Playback.Observed
import Storyline.Proofs.Playback.Perform
import Storyline.Proofs.Playback.Reading
import Storyline.Proofs.Playback.Scaffold
import Storyline.Proofs.Playback.ScaffoldPlay
import Storyline.Proofs.Playback.Sound
import Storyline.Proofs.Playback.Targets
import Storyline.Proofs.Playback.Telling
import Storyline.Proofs.Playback.Turn
import Storyline.Proofs.Playback.Unlimited
import Storyline.Proofs.Ron.Lexical
import Storyline.Proofs.Ron.RoundTrip
import Storyline.Proofs.Script.Composed
import Storyline.Proofs.Script.Document
import Storyline.Proofs.Script.Enclosing
import Storyline.Proofs.Script.Footer
import Storyline.Proofs.Script.Mending
import Storyline.Proofs.Script.Nesting
import Storyline.Proofs.Script.Tree
import Storyline.Proofs.Script.Written
import Storyline.Proofs.Session.Stored
import Storyline.Proofs.SortedMap
import Storyline.Proofs.Text.Lines
import Storyline.Proofs.Text.Numeral
import Storyline.Random
import Storyline.Ron.Lexical
import Storyline.Ron.Reader
import Storyline.Ron.Writer
import Storyline.Script
import Storyline.Script.Balance
import Storyline.Script.Line
import Storyline.Script.Rule
import Storyline.Session
import Storyline.Session.Stored
import Storyline.SortedMap
import Storyline.Story
import Storyline.Text.Blank
import Storyline.Text.Escaped
import Storyline.Text.Extending
import Storyline.Text.Lines
import Storyline.Text.Lowercase
import Storyline.Text.Numeral
import Storyline.Text.Piece
import Storyline.Text.Printable
import Storyline.Text.Ranges
import Storyline.Text.WordChar
import Storyline.Proofs.Script.Numbering
import Storyline.Proofs.Script.SingleSection
import Storyline.Proofs.Script.Concatenated
import Storyline.Proofs.Playback.Automatic
import Storyline.Proofs.Engine.Regenerated
import Storyline.Proofs.Playback.Course
import Storyline.Proofs.Playback.Nowhere
import Storyline.Proofs.Script.Destinations
import Storyline.Proofs.Script.Openings
import Storyline.Proofs.Script.Tags
import Storyline.Proofs.Script.Yields
import Storyline.Proofs.Script.Reading
import Storyline.Proofs.Script.Fields
import Storyline.Proofs.Script.Runs
import Storyline.Proofs.Script.Accounting
import Storyline.Proofs.Graph.Adjacency
import Storyline.Proofs.Ron.Conforming
import Storyline.Proofs.Session.Loaded
import Storyline.Proofs.Playback.Positions
