import Formula.Expr.Evaluator
import Formula.Expr.Reader
import Formula.Json.Printer
import Formula.Json.Reader
import Formula.Json.Settings
import Formula.Sheet.Stored
import Formula.Sheet.Writes
import Formula.Proofs.Calendar.Countdown
import Formula.Proofs.Calendar.Formats
import Formula.Proofs.Calendar.LeapSeconds
import Formula.Proofs.Calendar.Order
import Formula.Proofs.Calendar.TimeLine
import Formula.Proofs.Calendar.Weeks
import Formula.Proofs.Decimal.Characters
import Formula.Proofs.Decimal.Naturals
import Formula.Proofs.Expr.Blanks
import Formula.Proofs.Expr.Bound
import Formula.Proofs.Expr.Clamping
import Formula.Proofs.Expr.ConditionalSums
import Formula.Proofs.Expr.Corners
import Formula.Proofs.Expr.Counting
import Formula.Proofs.Expr.CutOff
import Formula.Proofs.Expr.Dependence
import Formula.Proofs.Expr.Matches
import Formula.Proofs.Expr.Propagation
import Formula.Proofs.Expr.Reducers
import Formula.Proofs.Expr.References
import Formula.Proofs.Expr.Regression
import Formula.Proofs.Expr.Respelling
import Formula.Proofs.Expr.Sequence
import Formula.Proofs.Json.Records
import Formula.Proofs.Sheet.Rows
import Formula.Proofs.Sheet.Upright
import Formula.Proofs.Sheet.Writes
import Formula.Proofs.Sheet.Writing
import Formula.Proofs.Symbols
import Formula.Proofs.Text.Search
import Formula.Proofs.Value.CriterionText
import Formula.Proofs.Value.Integer
import Formula.Proofs.Value.Order
