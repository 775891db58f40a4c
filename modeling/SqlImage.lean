import SqlImage.Image.Content
import SqlImage.Image.Dump
import SqlImage.Image.Heap
import SqlImage.Image.Kind
import SqlImage.Image.Load
import SqlImage.Image.Poke
import SqlImage.Image.Read
import SqlImage.Image.Release
import SqlImage.Image.Store
import SqlImage.Json.Cursor
import SqlImage.Json.Numeral
import SqlImage.Json.Printer
import SqlImage.Json.Reader
import SqlImage.Json.Value
import SqlImage.Lowering.Leaf
import SqlImage.Lowering.Query
import SqlImage.Lowering.Slots
import SqlImage.Lowering.Statement
import SqlImage.Lowering.Unsupported
import SqlImage.Number.Decimal
import SqlImage.Number.Double
import SqlImage.Number.Scaling
import SqlImage.Number.Shortest
import SqlImage.Options
import SqlImage.Parse
import SqlImage.Session
import SqlImage.Sql.Cursor
import SqlImage.Sql.Grammar
import SqlImage.Sql.Grammar.Administration
import SqlImage.Sql.Grammar.Alteration
import SqlImage.Sql.Grammar.Call
import SqlImage.Sql.Grammar.Change
import SqlImage.Sql.Grammar.Column
import SqlImage.Sql.Grammar.DataType
import SqlImage.Sql.Grammar.Definition
import SqlImage.Sql.Grammar.Expr
import SqlImage.Sql.Grammar.Inner
import SqlImage.Sql.Grammar.Name
import SqlImage.Sql.Grammar.Query
import SqlImage.Sql.Grammar.Setting
import SqlImage.Sql.Grammar.Special
import SqlImage.Sql.Grammar.Statement
import SqlImage.Sql.Grammar.Table
import SqlImage.Sql.Grammar.Transaction
import SqlImage.Sql.Grammar.Transfer
import SqlImage.Sql.Keyword
import SqlImage.Sql.Lexer
import SqlImage.Sql.Parser
import SqlImage.Sql.Span
import SqlImage.Sql.Syntax.Basic
import SqlImage.Sql.Syntax.Print
import SqlImage.Sql.Token
import SqlImage.Text.Alphabetic
import SqlImage.Text.Blank
import SqlImage.Text.DecimalDigit
import SqlImage.Text.Located
import SqlImage.Text.Numeric
import SqlImage.Text.Position
import SqlImage.Text.Quoted
import SqlImage.Text.Range
import SqlImage.Text.Slice
import SqlImage.Text.Unprintable
import SqlImage.Text.Utf8
import SqlImage.Tree.Basic
import SqlImage.Tree.Json
import SqlImage.Tree.Same
import SqlImage.Tree.Tag
import SqlImage.Proofs.Outcome
import SqlImage.Proofs.Filled
import SqlImage.Proofs.Heap
import SqlImage.Proofs.Walk
import SqlImage.Proofs.Sound
import SqlImage.Proofs.Store
import SqlImage.Proofs.Listing
import SqlImage.Proofs.Size
import SqlImage.Proofs.Restore
import SqlImage.Proofs.Normal
import SqlImage.Proofs.Ownership
import SqlImage.Proofs.Shape
import SqlImage.Proofs.Kept
import SqlImage.Proofs.Shown
import SqlImage.Proofs.Poke
import SqlImage.Proofs.CutOff
import SqlImage.Proofs.Damage
import SqlImage.Proofs.Reread
import SqlImage.Proofs.Recopy
import SqlImage.Proofs.WellFormed
import SqlImage.Proofs.Retext
import SqlImage.Proofs.Lowered
import SqlImage.Proofs.Parsed
import SqlImage.Proofs.Account
import SqlImage.Proofs.Figure
import SqlImage.Proofs.Depict
import SqlImage.Proofs.Picture
import SqlImage.Proofs.Overwrite
import SqlImage.Proofs.Follow
import SqlImage.Proofs.Alone
import SqlImage.Proofs.Interplay
import SqlImage.Proofs.Reports
import SqlImage.Proofs.Nearest
import SqlImage.Proofs.Numeral
import SqlImage.Proofs.Meaning
import SqlImage.Proofs.MeaningKept
import SqlImage.Proofs.Combination
import SqlImage.Proofs.Nesting
import SqlImage.Proofs.Supply
import SqlImage.Proofs.Supplied
import SqlImage.Proofs.Offset
import SqlImage.Proofs.Tokenized
import SqlImage.Proofs.Spans
import SqlImage.Proofs.Encoded
import SqlImage.Proofs.Entered
import SqlImage.Proofs.Placeholder
import SqlImage.Proofs.Numbered
import SqlImage.Proofs.Progress
import SqlImage.Proofs.Clauses
import SqlImage.Proofs.Reading
import SqlImage.Proofs.Places
import SqlImage.Proofs.Gapless
import SqlImage.Proofs.Joined
import SqlImage.Proofs.FirstFault
import SqlImage.Proofs.Recorded
import SqlImage.Proofs.Escaped
import SqlImage.Proofs.Spelled
import SqlImage.Proofs.Printed
import SqlImage.Proofs.Written
import SqlImage.Proofs.Recounted
import SqlImage.Proofs.Sliced
import SqlImage.Proofs.Slots
import SqlImage.Proofs.Named
import SqlImage.Proofs.Blamed
