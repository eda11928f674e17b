import SmallSql.Catalog
import SmallSql.Cell
import SmallSql.Command
import SmallSql.CommandLine
import SmallSql.Error
import SmallSql.Json.Atom
import SmallSql.Json.Fault
import SmallSql.Json.Magnitude
import SmallSql.Json.Number
import SmallSql.Json.Quoted
import SmallSql.Json.Reading
import SmallSql.Main
import SmallSql.Parsing
import SmallSql.Program
import SmallSql.Proofs.Catalog.Edits
import SmallSql.Proofs.Catalog.Lookup
import SmallSql.Proofs.Catalog.WellFormed
import SmallSql.Proofs.Checked.Agreement
import SmallSql.Proofs.Checked.Cursor
import SmallSql.Proofs.Checked.Execution
import SmallSql.Proofs.Checked.Reading
import SmallSql.Proofs.Checked.Rows
import SmallSql.Proofs.Json.Quoted
import SmallSql.Proofs.Json.Shape
import SmallSql.Proofs.Json.Skipping
import SmallSql.Proofs.Json.Written
import SmallSql.Proofs.Named.Refinement
import SmallSql.Proofs.Named.Rows
import SmallSql.Proofs.Named.Stored
import SmallSql.Proofs.Named.World
import SmallSql.Proofs.Parsing
import SmallSql.Proofs.Shell.Alignment
import SmallSql.Proofs.Shell.Colour
import SmallSql.Proofs.Shell.Hints
import SmallSql.Proofs.Shell.LastWord
import SmallSql.Proofs.Snapshot
import SmallSql.Proofs.Snapshot.Acceptance
import SmallSql.Proofs.Snapshot.Checking
import SmallSql.Proofs.Snapshot.Decoding
import SmallSql.Proofs.Snapshot.Restoring
import SmallSql.Proofs.Snapshot.Shape
import SmallSql.Proofs.State.Invariant
import SmallSql.Proofs.State.Scratch
import SmallSql.Proofs.Statement.Announcement
import SmallSql.Proofs.Statement.CaseVariants
import SmallSql.Proofs.Statement.Comparisons
import SmallSql.Proofs.Statement.Confinement
import SmallSql.Proofs.Statement.Derivation
import SmallSql.Proofs.Statement.EitherOrder
import SmallSql.Proofs.Statement.Formed
import SmallSql.Proofs.Statement.Frame
import SmallSql.Proofs.Statement.Grammar
import SmallSql.Proofs.Statement.IntegerView
import SmallSql.Proofs.Statement.KeywordCase
import SmallSql.Proofs.Statement.Place
import SmallSql.Proofs.Statement.Printing
import SmallSql.Proofs.Statement.Recognition
import SmallSql.Proofs.Statement.Refusal
import SmallSql.Proofs.Statement.Repetition
import SmallSql.Proofs.Statement.Respelling
import SmallSql.Proofs.Statement.Resubmission
import SmallSql.Proofs.Statement.RowPositions
import SmallSql.Proofs.Statement.Run
import SmallSql.Proofs.Statement.Sufficiency
import SmallSql.Proofs.Statement.Supplied
import SmallSql.Proofs.Statement.Tokens
import SmallSql.Proofs.Statement.Writing
import SmallSql.Proofs.Statement.WrittenColumns
import SmallSql.Proofs.Statement.Yield
import SmallSql.Proofs.Storage.Entries
import SmallSql.Proofs.Storage.FileStore
import SmallSql.Proofs.Storage.Files
import SmallSql.Proofs.Storage.Interruption
import SmallSql.Proofs.Storage.Mirror
import SmallSql.Proofs.Text.Lower
import SmallSql.Proofs.Text.LowerPrefix
import SmallSql.Proofs.Text.Trim
import SmallSql.Proofs.Token.Context
import SmallSql.Proofs.Token.Gap
import SmallSql.Proofs.Token.Layout
import SmallSql.Proofs.Token.Lossless
import SmallSql.Proofs.Token.Margin
import SmallSql.Proofs.Token.OpenEnd
import SmallSql.Proofs.Token.Progress
import SmallSql.Proofs.Token.Scanner
import SmallSql.Proofs.Token.Spelling
import SmallSql.Proofs.Workbench.Exposed
import SmallSql.Proofs.Workbench.Fidelity
import SmallSql.Proofs.Workbench.Replay
import SmallSql.Proofs.Workbench.Session
import SmallSql.Proofs.Workbench.Step
import SmallSql.Proofs.Workbench.Trimming
import SmallSql.Proofs.Workbench.Wrapped
import SmallSql.Settings
import SmallSql.Settings.Environment
import SmallSql.Settings.Toml
import SmallSql.Shell.Completion
import SmallSql.Shell.DotCommand
import SmallSql.Shell.Grid
import SmallSql.Shell.Session
import SmallSql.Shell.Style
import SmallSql.Snapshot
import SmallSql.State
import SmallSql.Statement
import SmallSql.Statement.Effect
import SmallSql.Statement.Reading
import SmallSql.Statement.Resolution
import SmallSql.Storage.Entries
import SmallSql.Storage.EntriesText
import SmallSql.Storage.Files
import SmallSql.Storage.Route
import SmallSql.Storage.Store
import SmallSql.Table
import SmallSql.Text.Alphabetic
import SmallSql.Text.Blank
import SmallSql.Text.Bytes
import SmallSql.Text.CaseRun
import SmallSql.Text.Cased
import SmallSql.Text.Cluster
import SmallSql.Text.ClusterRanges
import SmallSql.Text.ClusterRole
import SmallSql.Text.Erasure
import SmallSql.Text.Fold
import SmallSql.Text.Lower
import SmallSql.Text.Numeric
import SmallSql.Text.Pieces
import SmallSql.Text.Ranges
import SmallSql.Text.Upper
import SmallSql.Text.UppercaseLetter
import SmallSql.Token
import SmallSql.Token.Lexer
import SmallSql.Workbench
