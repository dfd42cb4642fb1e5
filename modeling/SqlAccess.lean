import SqlAccess.Config.Reading
import SqlAccess.Manager.Batch
import SqlAccess.Manager.Work
import SqlAccess.Mysql.Link
import SqlAccess.Postgres.Link
import SqlAccess.Script
import SqlAccess.Proofs.Binding.Escaping
import SqlAccess.Proofs.Bulk.Plan
import SqlAccess.Proofs.Bulk.Run
import SqlAccess.Proofs.Connection.Release
import SqlAccess.Proofs.Manager.Batch
import SqlAccess.Proofs.Manager.Transaction
import SqlAccess.Proofs.Monitor.Comments
import SqlAccess.Proofs.Mysql.Temporal
import SqlAccess.Proofs.Placeholder.Filling
import SqlAccess.Proofs.Statement.Guard
import SqlAccess.Proofs.Monitor.Groups
import SqlAccess.Proofs.Monitor.LetterCase
import SqlAccess.Proofs.Monitor.Noise
import SqlAccess.Proofs.Statement.Acceptance
import SqlAccess.Proofs.Statement.FirstFault
import SqlAccess.Proofs.Statement.Counting
import SqlAccess.Proofs.Statement.Paging
import SqlAccess.Proofs.Binding.Lists
import SqlAccess.Proofs.Number.Numeral
import SqlAccess.Proofs.Postgres.Integers
import SqlAccess.Proofs.Window.Clause
import SqlAccess.Proofs.Window.Tiling
import SqlAccess.Proofs.Calendar.DayNumber
import SqlAccess.Proofs.Postgres.Moments
import SqlAccess.Proofs.Mysql.Moments
import SqlAccess.Proofs.Mysql.Integers
import SqlAccess.Proofs.Monitor.Statistics
import SqlAccess.Proofs.Lookup.Overwriting
import SqlAccess.Proofs.Record.Cursor
import SqlAccess.Proofs.Record.JsonView
import SqlAccess.Proofs.Lookup.Assignments
import SqlAccess.Proofs.Statement.Assigning
import SqlAccess.Proofs.Connection.Told
import SqlAccess.Proofs.Calendar.CompactOrder
import SqlAccess.Proofs.Text.Truncation
import SqlAccess.Proofs.Statement.Reset
import SqlAccess.Proofs.Config.ReadBack
import SqlAccess.Proofs.Value.Integral
import SqlAccess.Proofs.Value.Conversion
import SqlAccess.Proofs.Record.Readers
import SqlAccess.Proofs.Config.Times
import SqlAccess.Proofs.Number.Whole
