import RecordQuery.Main
import RecordQuery.Proofs.Csv.RoundTrip
import RecordQuery.Proofs.Plan.Arrange
import RecordQuery.Proofs.Plan.Rectangular
import RecordQuery.Proofs.Query.Append
import RecordQuery.Proofs.Query.Summary
import RecordQuery.Proofs.Record.Lookup
import RecordQuery.Proofs.Plan.Failure
import RecordQuery.Proofs.Plan.SortedGroups
import RecordQuery.Proofs.Query.Aggregate
import RecordQuery.Proofs.Record.Levels
import RecordQuery.Proofs.Plan.Regroup
import RecordQuery.Proofs.Query.Word
import RecordQuery.Proofs.Query.Totals
import RecordQuery.Proofs.Plan.Mentioned
import RecordQuery.Proofs.Query.Respelled
import RecordQuery.Proofs.Command.Run
import RecordQuery.Proofs.Plan.InPlace
import RecordQuery.Proofs.Calendar.MonthFirst
import RecordQuery.Proofs.Calendar.Written
import RecordQuery.Proofs.Plan.Pushdown
import RecordQuery.Proofs.Query.Addends
import RecordQuery.Proofs.Query.Comparison
import RecordQuery.Proofs.Render.Lines
import RecordQuery.Proofs.Render.Stepwise
import RecordQuery.Proofs.Render.Objects
import RecordQuery.Proofs.Query.Printed
import RecordQuery.Proofs.Record.Store
import RecordQuery.Proofs.Query.Naming
import RecordQuery.Proofs.Query.Progress
import RecordQuery.Proofs.Record.Headers
import RecordQuery.Proofs.Value.Integer
